import Mathlib
import HilBridge.Atmosphere
import HilBridge.Proofs.Number.Exact

/-!
# `HilBridge.Proofs.Atmosphere` — pressure and altitude undo each other

The vehicle turns its altitude into a pressure by a power of the temperature ratio, and the bridge turns the pressure
into an altitude by the root. In exact arithmetic one undoes the other up to the altitude where the temperature reaches
zero. Of the power no more is needed than that it grows and that the root undoes it (`PowerLaw`), so these statements
are about real numbers with any such power (`Scalar.withPower`).

**Main statement.** `Atmosphere.pressureAltitude_pressureAt`, `Atmosphere.pressureAt_pressureAltitude` and
`Atmosphere.strictAntiOn_pressureAltitude`.
-/

namespace HilBridge

/-- The real numbers, with a power that may be any. -/
@[reducible]
noncomputable def Scalar.withPower (pow : ℝ → ℝ → ℝ) : Scalar ℝ :=
  { (inferInstance : Scalar ℝ) with pow }

/-- Of numbers that are not negative, power and root grow, and each undoes the other. -/
structure PowerLaw (power root : ℝ → ℝ) : Prop where
  mapsTo_power : Set.MapsTo power (Set.Ici 0) (Set.Ici 0)
  mapsTo_root : Set.MapsTo root (Set.Ici 0) (Set.Ici 0)
  strictMonoOn_power : StrictMonoOn power (Set.Ici 0)
  strictMonoOn_root : StrictMonoOn root (Set.Ici 0)
  root_power : Set.LeftInvOn root power (Set.Ici 0)
  power_root : Set.LeftInvOn power root (Set.Ici 0)

/-- The power that the atmosphere makes use of, and the root. -/
def AtmosphericPower (pow : ℝ → ℝ → ℝ) : Prop :=
  PowerLaw (pow · 5.25588) (pow · (1.0 / 5.25588))

/-- Real powers are of this kind. -/
theorem atmosphericPower_rpow : AtmosphericPower Real.rpow where
  mapsTo_power x hx := Real.rpow_nonneg hx _
  mapsTo_root x hx := Real.rpow_nonneg hx _
  strictMonoOn_power := Real.strictMonoOn_rpow_Ici_of_exponent_pos (by norm_num)
  strictMonoOn_root := Real.strictMonoOn_rpow_Ici_of_exponent_pos (by norm_num)
  root_power x hx := by
    show (x ^ (5.25588 : ℝ)) ^ (1.0 / 5.25588 : ℝ) = x
    rw [← Real.rpow_mul hx]
    norm_num
  power_root x hx := by
    show (x ^ (1.0 / 5.25588 : ℝ)) ^ (5.25588 : ℝ) = x
    rw [← Real.rpow_mul hx]
    norm_num

namespace Atmosphere

/-! ## The formulas -/

section
variable (pow : ℝ → ℝ → ℝ) (a : Atmosphere ℝ)

theorem pressureAt_eq (altitude : ℝ) :
    letI := Scalar.withPower pow
    a.pressureAt altitude
      = a.pressure * pow ((a.temperature - a.lapseRate * altitude) / a.temperature) 5.25588 :=
  rfl

/-- No number is missing, so the larger one is the greatest of both. -/
theorem max_eq (x y : ℝ) :
    letI := Scalar.withPower pow
    Scalar.max x y = max x y := by
  have hnumber : Scalar.isNaN x = false := by
    rw [Scalar.isNaN, Scalar.le_iff.mpr (le_refl x), Bool.not_true]
  show (if Scalar.isNaN x || Scalar.lt x y then y else x) = max x y
  rw [hnumber, Bool.false_or]
  split
  case isTrue hlt => exact (max_eq_right (Scalar.lt_iff.mp hlt).le).symm
  case isFalse hnot => exact (max_eq_left (not_lt.mp fun hlt => hnot (Scalar.lt_iff.mpr hlt))).symm

theorem pressureAltitude_eq (pressure : ℝ) :
    letI := Scalar.withPower pow
    a.pressureAltitude pressure
      = a.temperature / a.lapseRate * (1 - pow (max (pressure / a.pressure) 0) (1.0 / 5.25588)) := by
  have hone : (1.0 : ℝ) = 1 := by norm_num
  have hzero : (0.0 : ℝ) = 0 := by norm_num
  show a.temperature / a.lapseRate
    * (1.0 - pow (@Scalar.max ℝ (Scalar.withPower pow) (pressure / a.pressure) 0.0) (1.0 / 5.25588)) = _
  rw [max_eq, hone, hzero]

end

/-! ## One undoes the other -/

/-- Conditions at sea level that are those of an atmosphere. -/
structure Positive (a : Atmosphere ℝ) : Prop where
  pressure : 0 < a.pressure
  temperature : 0 < a.temperature
  lapseRate : 0 < a.lapseRate

theorem positive_standard (pow : ℝ → ℝ → ℝ) :
    letI := Scalar.withPower pow
    (standard : Atmosphere ℝ).Positive where
  pressure := by
    show (0 : ℝ) < 101325.0
    norm_num
  temperature := by
    show (0 : ℝ) < 288.15
    norm_num
  lapseRate := by
    show (0 : ℝ) < 0.0065
    norm_num

variable {pow : ℝ → ℝ → ℝ} {a : Atmosphere ℝ}

/-- The part of the temperature at sea level that is left at an altitude. -/
theorem Positive.ratio_nonneg (ha : a.Positive) {altitude : ℝ} (hle : altitude ≤ a.temperature / a.lapseRate) :
    0 ≤ (a.temperature - a.lapseRate * altitude) / a.temperature := by
  refine div_nonneg (sub_nonneg.mpr ?_) ha.temperature.le
  rw [mul_comm]
  exact (le_div_iff₀ ha.lapseRate).mp hle

/-- Up to the altitude where the temperature reaches zero the pressure tells the altitude. -/
theorem pressureAltitude_pressureAt (h : AtmosphericPower pow) (ha : a.Positive) {altitude : ℝ}
    (hle : altitude ≤ a.temperature / a.lapseRate) :
    letI := Scalar.withPower pow
    a.pressureAltitude (a.pressureAt altitude) = altitude := by
  have hratio := ha.ratio_nonneg hle
  have hpower : 0 ≤ pow ((a.temperature - a.lapseRate * altitude) / a.temperature) 5.25588 := h.mapsTo_power hratio
  have hroot := h.root_power hratio
  have htemperature := ha.temperature.ne'
  have hlapseRate := ha.lapseRate.ne'
  rw [pressureAltitude_eq, pressureAt_eq, mul_div_cancel_left₀ _ ha.pressure.ne', max_eq_left hpower, hroot]
  field_simp
  ring

theorem celsiusForPressure_pressureAt (h : AtmosphericPower pow) (ha : a.Positive) {altitude : ℝ}
    (hle : altitude ≤ a.temperature / a.lapseRate) :
    letI := Scalar.withPower pow
    a.celsiusForPressure (a.pressureAt altitude) = a.temperatureAt altitude - 273.15 := by
  let exact : Scalar ℝ := Scalar.withPower pow
  show a.temperatureAt (a.pressureAltitude (a.pressureAt altitude)) - kelvinOffset = _
  rw [pressureAltitude_pressureAt h ha hle]
  rfl

/-- Every pressure that is not negative is that of the altitude which it tells. -/
theorem pressureAt_pressureAltitude (h : AtmosphericPower pow) (ha : a.Positive) {pressure : ℝ} (hle : 0 ≤ pressure) :
    letI := Scalar.withPower pow
    a.pressureAt (a.pressureAltitude pressure) = pressure := by
  have hratio : 0 ≤ pressure / a.pressure := div_nonneg hle ha.pressure.le
  have hpower := h.power_root hratio
  rw [pressureAltitude_eq, pressureAt_eq, max_eq_left hratio]
  generalize pow (pressure / a.pressure) (1.0 / 5.25588) = root at hpower
  have hleft : (a.temperature - a.lapseRate * (a.temperature / a.lapseRate * (1 - root))) / a.temperature = root := by
    have htemperature := ha.temperature.ne'
    have hlapseRate := ha.lapseRate.ne'
    field_simp
    ring
  rw [hleft, hpower, mul_div_cancel₀ _ ha.pressure.ne']

/-- A larger pressure is that of a lower altitude. -/
theorem strictAntiOn_pressureAltitude (h : AtmosphericPower pow) (ha : a.Positive) :
    letI := Scalar.withPower pow
    StrictAntiOn a.pressureAltitude (Set.Ici 0) := by
  intro p hp q hq hlt
  have hratio : ∀ p ∈ Set.Ici (0 : ℝ), 0 ≤ p / a.pressure := fun p hp => div_nonneg hp ha.pressure.le
  have hroot : pow (p / a.pressure) (1.0 / 5.25588) < pow (q / a.pressure) (1.0 / 5.25588) :=
    h.strictMonoOn_root (hratio p hp) (hratio q hq) (div_lt_div_of_pos_right hlt ha.pressure)
  rw [pressureAltitude_eq, pressureAltitude_eq, max_eq_left (hratio p hp), max_eq_left (hratio q hq)]
  exact mul_lt_mul_of_pos_left (sub_lt_sub_left hroot 1) (div_pos ha.temperature ha.lapseRate)

/-- Pressures below zero count as vacuum. -/
theorem pressureAltitude_of_nonpos (pow : ℝ → ℝ → ℝ) (ha : a.Positive) {pressure : ℝ} (hle : pressure ≤ 0) :
    letI := Scalar.withPower pow
    a.pressureAltitude pressure = a.pressureAltitude 0 := by
  rw [pressureAltitude_eq, pressureAltitude_eq, zero_div, max_self,
    max_eq_right (div_nonpos_of_nonpos_of_nonneg hle ha.pressure.le)]

end Atmosphere

end HilBridge
