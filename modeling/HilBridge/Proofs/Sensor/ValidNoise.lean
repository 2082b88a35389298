import HilBridge.Config.Validate
import HilBridge.NoiseTrial
import HilBridge.Proofs.Number.FloatInterval
import HilBridge.Proofs.Number.FloatNearest
import HilBridge.Proofs.Sensor.Disturbance

/-!
# `HilBridge.Proofs.Sensor.ValidNoise` — valid noise stays within its limits

The limits of a disturbance lie three standard deviations from its mean. In double precision those of valid noise are in
order, even where they are infinite (`Noise.bounded_of_isValid`), so settings that were accepted give no source a fault
(`SensorNoise.boundedIfValid`). And as long as what the generator gives are numbers, whatever is drawn lies within the
limits (`NoiseSource.sample_mem`).

**Main statement.** `NoiseTrial.isBounded_ofDraws`: every row of draws is found to be bounded.
-/

namespace HilBridge

/-! ## Limits -/

namespace Noise

variable {n : Noise Float}

/-- Valid noise has a deviation that is finite and not negative. -/
theorem stddev_of_isValid (h : n.isValid = true) :
    n.mean.isFinite = true ∧ n.stddev.isFinite = true ∧ 0.0 ≤ n.stddev := by
  simp only [isValid, Bool.and_eq_true, Bool.not_eq_true'] at h
  obtain ⟨⟨hmean, hstddev⟩, hsign⟩ := h
  exact ⟨hmean, hstddev, Binary64.le_of_not_lt hstddev rfl (of_decide_eq_false hsign)⟩

theorem unpack_three : (3.0 : Float).toModel.unpack = .finite .positive (3 * 2 ^ 51) (-51) (by decide) :=
  rfl

theorem low_le_high (h : n.isValid = true) : n.low ≤ n.high := by
  obtain ⟨hmean, hstddev, hnonneg⟩ := stddev_of_isValid h
  exact Binary64.sub_le_add hmean (Binary64.mul_nonneg unpack_three (by decide) hnonneg hstddev)

theorem bounded_of_isValid (h : n.isValid = true) : n.Bounded :=
  fun _ => decide_eq_true (low_le_high h)

end Noise

namespace SensorNoise

variable {α : Type} [Scalar α]

/-- Of each reading whose noise is valid, the limits are in order. -/
def BoundedIfValid (n : SensorNoise α) : Prop :=
  ∀ reading ∈ n.fields, reading.2.isValid = true → reading.2.Bounded

theorem BoundedIfValid.bounded {n : SensorNoise α} (h : n.BoundedIfValid)
    (hvalid : ∀ reading ∈ n.fields, reading.2.isValid = true) : n.Bounded := by
  have hfield : ∀ reading ∈ n.fields, reading.2.Bounded := fun reading hmem => h reading hmem (hvalid reading hmem)
  simp only [fields, List.forall_mem_cons] at hfield
  obtain ⟨hpressure, htemperature, hmagnetic, hhorizontal, hvertical, hvelocity, -⟩ := hfield
  exact ⟨hpressure, htemperature, hmagnetic, hhorizontal, hvertical, hvelocity⟩

theorem boundedIfValid (n : SensorNoise Float) : n.BoundedIfValid :=
  fun _ _ hvalid => Noise.bounded_of_isValid hvalid

end SensorNoise

/-! ## Draws -/

namespace Noise

variable {n : Noise Float}

/-- Where nothing is drawn the deviation is zero, and both limits are the mean. -/
theorem mean_mem_of_calm (hvalid : n.isValid = true) (hcalm : n.isRandom = false) :
    n.low ≤ n.mean ∧ n.mean ≤ n.high := by
  obtain ⟨hmean, hstddev, hnonneg⟩ := stddev_of_isValid hvalid
  have hzero : n.stddev ≤ 0.0 := by
    have hfinite : Scalar.isFinite n.stddev = true := hstddev
    simpa [isRandom, hfinite, Scalar.le] using hcalm
  obtain ⟨s, hmodel⟩ : ∃ s, n.stddev.toModel.unpack = .zero s := by
    have hunsigned := Binary64.nonneg_iff.mp hnonneg
    rw [Binary64.le_iff, Binary64.unpack_zero] at hzero
    cases hmodel : n.stddev.toModel.unpack with
    | notANumber => rw [hmodel] at hunsigned; cases hunsigned
    | zero s => exact ⟨s, rfl⟩
    | infinity s => rw [hmodel] at hunsigned hzero; cases hunsigned; cases hzero
    | finite s m e hm => rw [hmodel] at hunsigned hzero; cases hunsigned.1; cases hzero
  obtain ⟨t, hwidth⟩ := Binary64.exists_zero_of_mul unpack_three hmodel
  obtain ⟨hlow, hhigh⟩ := Binary64.sameValue_add_sub (x := n.mean) hwidth
  exact ⟨hlow.le_iff.1.mpr (Binary64.le_refl hmean), hhigh.le_iff.2.mpr (Binary64.le_refl hmean)⟩

/-- A draw that is a number, scaled and moved, is one. -/
theorem isNaN_of_isRandom (hvalid : n.isValid = true) (hrandom : n.isRandom = true) {z : Float}
    (hz : Scalar.isNaN z = false) : Scalar.isNaN (n.mean + n.stddev * z) = false := by
  obtain ⟨hmean, hstddev, hnonneg⟩ := stddev_of_isValid hvalid
  have hpositive : ¬ n.stddev ≤ 0.0 := by
    simp only [isRandom, Bool.and_eq_true, Bool.not_eq_true'] at hrandom
    exact of_decide_eq_false hrandom.1
  have hproduct : (n.stddev * z).toModel.unpack ≠ .notANumber := by
    have hfinite : n.stddev.toModel.unpack.isFinite = true := hstddev
    cases hmodel : n.stddev.toModel.unpack with
    | notANumber | infinity s => rw [hmodel] at hfinite; cases hfinite
    | zero s => exact absurd (Binary64.le_iff.mpr (by rw [hmodel]; rfl)) hpositive
    | finite s m e hm => exact Binary64.unpack_mul_ne hmodel (Binary64.ne_of_isNaN hz)
  exact Bool.eq_false_iff.mpr fun hsum => Binary64.unpack_add_ne hmean hproduct (Binary64.isNaN_iff.mp hsum)

end Noise

namespace NoiseSource

/-- Every draw from the seed is a number. -/
def GivesNumbers (s : NoiseSource) : Prop :=
  ∀ k, Scalar.isNaN (Scalar.normal s.seed k : Float) = false

variable {n : Noise Float} {s : NoiseSource}

/-- A disturbance lies within the limits, and the next one is drawn from the same seed. -/
theorem sample_mem (hvalid : n.isValid = true) (hs : s.GivesNumbers) :
    (n.low ≤ (s.sample n).1 ∧ (s.sample n).1 ≤ n.high) ∧ (s.sample n).2.seed = s.seed := by
  by_cases hrandom : n.isRandom = true
  · have hlimits := Noise.low_le_high hvalid
    have hdraw := Noise.isNaN_of_isRandom hvalid hrandom (hs s.drawn)
    have hsample : s.sample n = (Scalar.clamp n.low n.high (n.mean + n.stddev * Scalar.normal s.seed s.drawn),
        { s with drawn := s.drawn + 1 }) := by
      rw [sample, if_pos hrandom]
      simp only [Scalar.clamp?, if_pos (Noise.bounded_of_isValid hvalid hrandom), nextNormal]
    rw [hsample]
    exact ⟨Binary64.clamp_mem_of_isNaN hlimits hdraw, rfl⟩
  · have hcalm := Bool.eq_false_iff.mpr hrandom
    rw [sample_of_calm hcalm]
    exact ⟨Noise.mean_mem_of_calm hvalid hcalm, rfl⟩

theorem addMany_succ (s : NoiseSource) (x : Float) (n : Noise Float) (count : Nat) :
    s.addMany x n (count + 1)
      = (((s.addMany x n count).2.add x n).1 :: (s.addMany x n count).1, ((s.addMany x n count).2.add x n).2) := by
  rw [addMany, List.range_succ, List.foldl_append]
  rfl

/-- Every one of many disturbances of zero lies within the limits. -/
theorem addMany_mem (hvalid : n.isValid = true) (hs : s.GivesNumbers) (count : Nat) :
    (∀ d ∈ (s.addMany 0.0 n count).1, n.low ≤ d ∧ d ≤ n.high) ∧ (s.addMany 0.0 n count).2.seed = s.seed
      ∧ (s.addMany 0.0 n count).2.fault = s.fault := by
  induction count with
  | zero => exact ⟨nofun, rfl, rfl⟩
  | succ count ih =>
    obtain ⟨hdraws, hseed, hfault⟩ := ih
    have hgives : (s.addMany 0.0 n count).2.GivesNumbers := by
      intro k
      rw [hseed]
      exact hs k
    obtain ⟨hmem, hkept⟩ := sample_mem hvalid hgives
    have hsame := Binary64.sameValue_zero_add ((s.addMany 0.0 n count).2.sample n).1
    rw [addMany_succ]
    refine ⟨List.forall_mem_cons.mpr ⟨⟨hsame.le_iff.2.mpr hmem.1, hsame.le_iff.1.mpr hmem.2⟩, hdraws⟩,
      hkept.trans hseed, (fault_add (Noise.bounded_of_isValid hvalid) _ 0.0).trans hfault⟩

end NoiseSource

/-- **A trial is bounded**: with valid noise, all that comes of a source whose draws are numbers lies within the limits,
and the source is as much in order as it was. -/
theorem NoiseTrial.isBounded_ofDraws {n : Noise Float} {s : NoiseSource} (hvalid : n.isValid = true)
    (hs : s.GivesNumbers) (count : Nat) :
    (NoiseTrial.ofDraws n (s.addMany 0.0 n count).1).isBounded = true
      ∧ (s.addMany 0.0 n count).2.fault = s.fault := by
  obtain ⟨hmem, -, hfault⟩ := NoiseSource.addMany_mem hvalid hs count
  refine ⟨List.all_eq_true.mpr fun d hd => ?_, hfault⟩
  rw [Bool.and_eq_true]
  exact ⟨decide_eq_true (hmem d hd).1, decide_eq_true (hmem d hd).2⟩

end HilBridge
