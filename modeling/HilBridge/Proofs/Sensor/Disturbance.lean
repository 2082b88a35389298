import HilBridge.Sensor.Assembler

/-!
# `HilBridge.Proofs.Sensor.Disturbance` — disturbances that can be drawn

A disturbance is drawn within limits, and a source has a fault once the limits are not in order. Where they are
(`Noise.Bounded`), whatever is disturbed leaves the source without a new fault.
-/

namespace HilBridge

variable {α : Type} [Scalar α]

/-- If anything is drawn, the limits are in order. -/
def Noise.Bounded (n : Noise α) : Prop :=
  n.isRandom = true → Scalar.le n.low n.high = true

instance (n : Noise α) : Decidable n.Bounded :=
  inferInstanceAs (Decidable (_ → _))

namespace NoiseSource

variable {n : Noise α}

/-- Where nothing is drawn, the disturbance is the mean and no draw is used up. -/
theorem sample_of_calm (h : n.isRandom = false) (s : NoiseSource) : s.sample n = (n.mean, s) := by
  rw [sample, h, if_neg Bool.false_ne_true]

theorem fault_sample (h : n.Bounded) (s : NoiseSource) : (s.sample n).2.fault = s.fault := by
  unfold sample
  split
  case isTrue hrandom =>
    simp only [Scalar.clamp?, if_pos (h hrandom)]
    rfl
  case isFalse => rfl

theorem fault_add (h : n.Bounded) (s : NoiseSource) (x : α) : (s.add x n).2.fault = s.fault :=
  fault_sample h s

theorem fault_addVec (h : n.Bounded) (s : NoiseSource) (v : Vec3 α) : (s.addVec v n).2.fault = s.fault := by
  simp only [addVec, fault_add h]

end NoiseSource

/-- The limits of every reading's noise are in order. -/
structure SensorNoise.Bounded (n : SensorNoise α) : Prop where
  pressure : n.pressure.Bounded
  temperature : n.temperature.Bounded
  magnetic : n.magnetic.Bounded
  horizontal : n.horizontal.Bounded
  vertical : n.vertical.Bounded
  velocity : n.velocity.Bounded

namespace AssemblySettings

variable {s : AssemblySettings α}

theorem fault_barometerReport (h : s.noise.Bounded) (noise : NoiseSource) (pressure : α) :
    (s.barometerReport noise pressure).2.fault = noise.fault := by
  simp only [barometerReport, NoiseSource.fault_add h.temperature, NoiseSource.fault_add h.pressure]

theorem fault_magnetometerReport (h : s.noise.Bounded) (noise : NoiseSource) (field : Vec3 α) :
    (s.magnetometerReport noise field).2.fault = noise.fault :=
  NoiseSource.fault_addVec h.magnetic noise _

theorem fault_gpsReport (h : s.noise.Bounded) (noise : NoiseSource) (r : GpsReading α) :
    (s.gpsReport noise r).2.fault = noise.fault := by
  simp only [gpsReport, NoiseSource.fault_add h.vertical, NoiseSource.fault_addVec h.velocity,
    NoiseSource.fault_sample h.horizontal]

end AssemblySettings

end HilBridge
