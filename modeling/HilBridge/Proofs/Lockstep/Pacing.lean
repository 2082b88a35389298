import HilBridge.Lockstep.Scheduler
import HilBridge.Proofs.Config.Validity
import HilBridge.Proofs.Number.FloatMonotone
import HilBridge.Proofs.Number.FloatNearest

/-!
# `HilBridge.Proofs.Lockstep.Pacing` — ticks that can be paced

Outside lockstep a tick is to take its length divided by the speed factor. A valid speed factor is finite and greater
than zero, so what comes out is never negative and never "not a number" (`realSeconds_nonneg`); but nothing keeps it
from being too long for a span of time. The longest tick at the slowest speed decides, because division is monotone
(`realSeconds_le`).

**Main statement.** `pacing_fails_iff`: which ticks fail, and which valid configurations have such ticks.
-/

namespace HilBridge

open Binary64 (magnitude le_iff_magnitude nonneg_iff)

variable {α : Type}

/-! ## Spans of time -/

namespace Scheduler

theorem unpack_limit :
    (18446744073709551616.0 : Float).toModel.unpack = .finite .positive (2 ^ 52) 12 (by decide) :=
  rfl

theorem magnitude_limit : magnitude (18446744073709551616.0 : Float).toModel.unpack = 2 ^ 64 := by
  rw [unpack_limit]
  norm_num [magnitude]

theorem limit_le_iff (d : Dyadic) :
    Nat.pow 2 64 * d.den ≤ d.num ↔ (2 : ℚ) ^ 64 ≤ d.mantissa * 2 ^ d.exponent := by
  rw [← d.num_div_den, le_div_iff₀ (Nat.cast_pos.mpr d.den_pos)]
  show 2 ^ 64 * d.den ≤ d.num ↔ _
  exact_mod_cast Iff.rfl

/-- What is not negative is a span of time unless it is too long. -/
theorem nanoseconds?_eq_none_iff {x : Float} (hx : 0.0 ≤ x) :
    nanoseconds? x = none ↔ 18446744073709551616.0 ≤ x := by
  have hunsigned := nonneg_iff.mp hx
  rw [le_iff_magnitude (by decide) hx, magnitude_limit, nanoseconds?, Binary64.classify_eq]
  generalize x.toModel.unpack = y at hunsigned
  by_cases hfinite : y.isFinite = true
  · obtain ⟨d, hclass, hsign, hvalue⟩ := Binary64.exists_dyadic hunsigned hfinite
    rw [hclass, hvalue, ← limit_le_iff]
    simp only [hsign, Bool.false_eq_true, if_false]
    split
    case isTrue h => exact ⟨fun _ => h, fun _ => rfl⟩
    case isFalse h => exact ⟨nofun, fun h' => absurd h' h⟩
  · -- infinity
    have hlarge := not_lt.mp (mt (Binary64.isFinite_iff_magnitude hunsigned).mpr hfinite)
    refine ⟨fun _ => (pow_le_pow_right₀ (by norm_num) (by norm_num)).trans hlarge, fun _ => ?_⟩
    cases y with
    | notANumber | infinity s => rfl
    | zero s => exact absurd rfl hfinite
    | finite s m e hm => exact absurd rfl hfinite

end Scheduler

/-! ## The time of a tick -/

/-- The seconds of so many microseconds. -/
def simulatedSeconds (step : Nat) : Float :=
  Float.ofNat step / 1000000.0

/-- The seconds that a tick of so many microseconds takes when the simulation has a pace of its own. -/
def realSeconds (speedFactor : Float) (step : Nat) : Float :=
  simulatedSeconds step / speedFactor

section
variable {step : Nat}

theorem isFinite_ofNat (hstep : step < 2 ^ 64) : (Float.ofNat step).isFinite = true :=
  Binary64.isFinite_of_le (Binary64.ofNat_nonneg step) (Binary64.ofNat_le_ofNat (Nat.le_pred_of_lt hstep))
    (by decide)

theorem simulatedSeconds_nonneg (hstep : step < 2 ^ 64) : 0.0 ≤ simulatedSeconds step :=
  Binary64.div_nonneg (Binary64.ofNat_nonneg step) (isFinite_ofNat hstep) (by decide) (by decide)

/-- The longest tick. -/
theorem simulatedSeconds_le (hstep : step < 2 ^ 64) : simulatedSeconds step ≤ simulatedSeconds (2 ^ 64 - 1) :=
  Binary64.div_le_div (Binary64.ofNat_nonneg step) (Binary64.ofNat_le_ofNat (Nat.le_pred_of_lt hstep))
    (by decide) (by decide) (by decide) (by decide)

theorem isFinite_simulatedSeconds (hstep : step < 2 ^ 64) : (simulatedSeconds step).isFinite = true :=
  Binary64.isFinite_of_le (simulatedSeconds_nonneg hstep) (simulatedSeconds_le hstep) (by decide)

theorem realSeconds_nonneg {speed : Float} (hspeed : 0.0 < speed) (hfinite : speed.isFinite = true)
    (hstep : step < 2 ^ 64) : 0.0 ≤ realSeconds speed step :=
  Binary64.div_nonneg (simulatedSeconds_nonneg hstep) (isFinite_simulatedSeconds hstep) hspeed hfinite

/-- A longer tick takes longer, and so does a slower one. -/
theorem realSeconds_le {speed speed' : Float} (hspeed : 0.0 < speed') (hle : speed' ≤ speed)
    (hfinite : speed.isFinite = true) (hstep : step < 2 ^ 64) :
    realSeconds speed step ≤ realSeconds speed' (2 ^ 64 - 1) :=
  Binary64.div_le_div (simulatedSeconds_nonneg hstep) (simulatedSeconds_le hstep)
    (isFinite_simulatedSeconds (by decide)) hspeed hle hfinite

end

/-! ## Pacing -/

namespace Scheduler

theorem impossible_iff {speed : Float} (hspeed : 0.0 < speed) (hfinite : speed.isFinite = true) {step : Nat}
    (hstep : step < 2 ^ 64) {s : Scheduler} (hmode : s.mode = .freeRunning speed) :
    s.pacing step = .impossible ↔ 18446744073709551616.0 ≤ realSeconds speed step := by
  rw [← nanoseconds?_eq_none_iff (realSeconds_nonneg hspeed hfinite hstep), pacing, hmode, realSeconds,
    simulatedSeconds]
  dsimp only
  cases nanoseconds? (Float.ofNat step / 1000000.0 / speed) with
  | none => exact ⟨fun _ => rfl, fun _ => rfl⟩
  | some count => exact ⟨nofun, nofun⟩

/-- At a millionth of real time the longest tick takes `2 ^ 64` seconds, and at the next larger speed it takes less. -/
theorem exists_impossible_iff {speed : Float} (hspeed : 0.0 < speed) (hfinite : speed.isFinite = true) :
    (∃ step < 2 ^ 64, 18446744073709551616.0 ≤ realSeconds speed step) ↔ speed ≤ 0.000001 := by
  have hlimit : (0.0 : Float) ≤ 18446744073709551616.0 := by decide
  constructor
  · rintro ⟨step, hstep, hlong⟩
    refine Binary64.le_of_not_lt (by decide) hfinite fun hfast => ?_
    have hnext : 0.0000010000000000000002 ≤ speed := Binary64.le_of_next rfl rfl hfast
    have hlonger := Binary64.le_trans hlimit hlong (realSeconds_le (by decide) hnext hfinite hstep)
    exact absurd hlonger (by decide)
  · intro hslow
    refine ⟨2 ^ 64 - 1, by decide, ?_⟩
    have hmillionth : (18446744073709551616.0 : Float) ≤ realSeconds 0.000001 (2 ^ 64 - 1) := by decide
    exact Binary64.le_trans hlimit hmillionth (realSeconds_le hspeed hslow (by decide) (by decide))

variable [Scalar α]

/--
**Which ticks can be paced**, by any scheduler in the mode of a valid configuration. Outside lockstep it is the ticks
that would take less than `2 ^ 64` seconds of real time. These are the ticks of every length if and only if the
simulation is faster than a millionth of real time.
-/
theorem pacing_fails_iff {c : Config α} (hvalid : c.validate = .ok ()) {s : Scheduler} (hmode : s.mode = .ofConfig c) :
    (∀ step < 2 ^ 64, s.pacing step = .impossible
      ↔ c.lockstep = false ∧ 18446744073709551616.0 ≤ realSeconds c.speedFactor step)
    ∧ ((∃ step < 2 ^ 64, s.pacing step = .impossible) ↔ c.lockstep = false ∧ c.speedFactor ≤ 0.000001) := by
  obtain ⟨hfinite, hpositive⟩ := (Config.validate_eq_ok_iff.mp hvalid).speedFactor
  have hspeed : 0.0 < c.speedFactor := by
    by_contra hnone
    exact hpositive (Binary64.le_of_not_lt (by decide) hfinite hnone)
  have hfails : ∀ step < 2 ^ 64, s.pacing step = .impossible
      ↔ c.lockstep = false ∧ 18446744073709551616.0 ≤ realSeconds c.speedFactor step := by
    intro step hstep
    cases hlockstep : c.lockstep with
    | true =>
      rw [TimeMode.ofConfig, if_pos hlockstep] at hmode
      rw [pacing, hmode]
      exact ⟨nofun, nofun⟩
    | false =>
      rw [TimeMode.ofConfig, hlockstep, if_neg Bool.false_ne_true] at hmode
      rw [impossible_iff hspeed hfinite hstep hmode]
      exact ⟨fun hlong => ⟨rfl, hlong⟩, And.right⟩
  refine ⟨hfails, ?_⟩
  rw [← exists_impossible_iff hspeed hfinite]
  constructor
  · rintro ⟨step, hstep, himpossible⟩
    obtain ⟨hlockstep, hlong⟩ := (hfails step hstep).mp himpossible
    exact ⟨hlockstep, step, hstep, hlong⟩
  · rintro ⟨hlockstep, step, hstep, hlong⟩
    exact ⟨step, hstep, (hfails step hstep).mpr ⟨hlockstep, hlong⟩⟩

/-- A speed that is greater than zero, as validation asks for, and hardly more. -/
def crawling : Config Float :=
  { Config.default with speedFactor := 1e-22 }

theorem validate_crawling : crawling.validate = .ok () :=
  eq_ok_of_toOption (by decide +kernel)

theorem crawling_fails :
    crawling.validate = .ok () ∧ (new crawling).mode = .ofConfig crawling ∧ (new crawling).pacing 4000 = .impossible :=
  ⟨validate_crawling, rfl,
    ((pacing_fails_iff validate_crawling rfl).1 4000 (by decide)).mpr ⟨rfl, by decide⟩⟩

/-- Validation does not exclude speeds that cannot be kept. -/
theorem valid_speed_fails :
    ¬ ∀ c : Config Float, c.validate = .ok () → ∀ step < 2 ^ 64, (new c).pacing step ≠ .impossible := by
  intro h
  exact h crawling validate_crawling 4000 (by decide) (by decide)

end Scheduler

end HilBridge
